import Mathlib.Data.List.Forall2
import TestForge.Proofs.FileSystem.Files
import TestForge.Proofs.Operation.Generation
import TestForge.Proofs.Operation.Logging

/-!
# The calls of the toolchain

One verification compiles until a compilation succeeds or the attempts are used up, then runs the
test once, and covers it at most once. Operations call the toolchain for nothing else.
-/

namespace TestForge

open Toolchain

/-! ## Traces -/

/-- The calls of one verification, each with the files it saw: compilations that failed, the
compilation after them, and the run and the coverage report that may follow. -/
structure CallTrace where
  failed : List (FileSystem × ToolFailure)
  compiled : FileSystem × Except ToolFailure ToolOutput
  ran : Option (FileSystem × Except ToolFailure TestCounts)
  covered : Option (FileSystem × Except ToolFailure CoverageReport)

namespace CallTrace

/-- The calls for a test below a root, oldest first. -/
def events (t : CallTrace) (root target : String) : List Event :=
  t.failed.map (fun c => ⟨root, target, c.1, .compile (.error c.2)⟩) ++
    ⟨root, target, t.compiled.1, .compile t.compiled.2⟩ ::
      (t.ran.toList.map (fun c => ⟨root, target, c.1, .run c.2⟩) ++
        t.covered.toList.map fun c => ⟨root, target, c.1, .coverage c.2⟩)

/-- The test is run if it was compiled, and covered if that was asked for and it ran well. -/
structure Lawful (t : CallTrace) (maxRetries : Nat) (cover : Bool) : Prop where
  attempts : t.failed.length + 1 ≤ maxRetries
  ran_iff : t.ran.isSome = true ↔ ∃ output, t.compiled.2 = .ok output
  covered_iff : t.covered.isSome = true ↔
    cover = true ∧ ∃ files counts, t.ran = some (files, .ok counts)

theorem Lawful.covered_none {t : CallTrace} {maxRetries : Nat} (h : t.Lawful maxRetries false) :
    t.covered = none := by
  cases hc : t.covered with
  | none => rfl
  | some c =>
      have hi := h.covered_iff
      simp [hc] at hi

/-- The trace with a call for coverage behind it. -/
def withCoverage (t : CallTrace) (c : FileSystem × Except ToolFailure CoverageReport) : CallTrace :=
  { t with covered := some c }

theorem events_withCoverage {t : CallTrace} (h : t.covered = none)
    (c : FileSystem × Except ToolFailure CoverageReport) (root target : String) :
    (t.withCoverage c).events root target =
      t.events root target ++ [⟨root, target, c.1, .coverage c.2⟩] := by
  simp [events, withCoverage, h]

end CallTrace

/-! ## One verification -/

namespace Verification

variable {σ : Type} {v : Verification σ} {recorder : Option AttemptRecorder}

/-- The verification over the toolchain that logs its calls. -/
def logged (v : Verification σ) : Verification (List Event × σ) :=
  v.withTools v.tools.logged

/-- What an attempt answers, and what the toolchain answered to its one call. -/
inductive AttemptCase : Phase → Except ToolFailure (Option TestCounts) → Answer → Prop
  | compiled (output : ToolOutput) : AttemptCase .compile (.ok none) (.compile (.ok output))
  | uncompiled (failure : ToolFailure) :
      AttemptCase .compile (.error failure) (.compile (.error failure))
  | ran (counts : TestCounts) : AttemptCase .test (.ok (some counts)) (.run (.ok counts))
  | failed (failure : ToolFailure) : AttemptCase .test (.error failure) (.run (.error failure))

theorem attemptCase {phase : Phase} {w w' : World (List Event × σ)}
    {answer : Except ToolFailure (Option TestCounts)}
    (ha : v.logged.attempt phase w = (answer, w')) :
    ∃ call, AttemptCase phase answer call ∧
      w'.calls = w.calls ++ [⟨v.root, v.target, w.files, call⟩] := by
  cases phase with
  | compile =>
      refine ⟨.compile (v.logged.tools.compile v.root v.target w.files w.tools).1, ?_,
        by cases ha; rfl⟩
      have hr := congrArg Prod.fst ha
      change (v.logged.tools.compile v.root v.target w.files w.tools).1.map _ = answer at hr
      subst hr
      cases (v.logged.tools.compile v.root v.target w.files w.tools).1 with
      | error failure => exact .uncompiled failure
      | ok output => exact .compiled output
  | test =>
      refine ⟨.run (v.logged.tools.run v.root v.target w.files w.tools).1, ?_, by cases ha; rfl⟩
      have hr := congrArg Prod.fst ha
      change (v.logged.tools.run v.root v.target w.files w.tools).1.map _ = answer at hr
      subst hr
      cases (v.logged.tools.run v.root v.target w.files w.tools).1 with
      | error failure => exact .failed failure
      | ok counts => exact .ran counts

theorem attempt_compile_ok {w w' : World (List Event × σ)} {counts : Option TestCounts}
    (ha : v.logged.attempt .compile w = (.ok counts, w')) :
    counts = none ∧ ∃ output,
      w'.calls = w.calls ++ [⟨v.root, v.target, w.files, .compile (.ok output)⟩] := by
  obtain ⟨call, hcase, hcalls⟩ := attemptCase ha
  cases hcase with
  | compiled output => exact ⟨rfl, output, hcalls⟩

theorem attempt_compile_error {w w' : World (List Event × σ)} {failure : ToolFailure}
    (ha : v.logged.attempt .compile w = (.error failure, w')) :
    w'.calls = w.calls ++ [⟨v.root, v.target, w.files, .compile (.error failure)⟩] := by
  obtain ⟨call, hcase, hcalls⟩ := attemptCase ha
  cases hcase with
  | uncompiled => exact hcalls

theorem attempt_test_ok {w w' : World (List Event × σ)} {counts : Option TestCounts}
    (ha : v.logged.attempt .test w = (.ok counts, w')) :
    ∃ ran, counts = some ran ∧
      w'.calls = w.calls ++ [⟨v.root, v.target, w.files, .run (.ok ran)⟩] := by
  obtain ⟨call, hcase, hcalls⟩ := attemptCase ha
  cases hcase with
  | ran counts => exact ⟨counts, rfl, hcalls⟩

theorem attempt_test_error {w w' : World (List Event × σ)} {failure : ToolFailure}
    (ha : v.logged.attempt .test w = (.error failure, w')) :
    w'.calls = w.calls ++ [⟨v.root, v.target, w.files, .run (.error failure)⟩] := by
  obtain ⟨call, hcase, hcalls⟩ := attemptCase ha
  cases hcase with
  | failed => exact hcalls

theorem keepRecord_calls (recorder : Option AttemptRecorder) (phase : Phase) (attempt : Nat)
    (failure : ToolFailure) (w : World (List Event × σ)) :
    (keepRecord recorder phase attempt failure w).calls = w.calls := by
  cases recorder <;> simp only [keepRecord, World.calls]

/-- The outcome that the last of a number of compilations leaves. -/
def compileOutcome (retries : Nat) : Except ToolFailure ToolOutput → PhaseOutcome
  | .ok _ => .succeeded retries none
  | .error failure => .exhausted retries failure

/-- What a compile phase adds to the log: failures, each but the last repaired, within the attempts
that are left. -/
theorem PhaseRun.compile_calls {state : RetryState} {w w' : World (List Event × σ)}
    {outcome : PhaseOutcome} (h : PhaseRun v.logged .compile recorder state w outcome w')
    (hs : state.attempt < state.maxRetries) :
    ∃ (failed : List (FileSystem × ToolFailure)) (files : FileSystem)
      (result : Except ToolFailure ToolOutput),
      w'.calls = w.calls ++ CallTrace.events ⟨failed, (files, result), none, none⟩ v.root v.target ∧
      state.attempt + failed.length < state.maxRetries ∧
      outcome = compileOutcome (state.attempt + failed.length) result ∧
      (v.tools.ReadOnly → ∀ output, result = .ok output → w'.files = files) := by
  induction h with
  | succeeds ha =>
      obtain ⟨rfl, output, hc⟩ := attempt_compile_ok ha
      exact ⟨[], _, .ok output, hc, hs, rfl,
        fun hro _ _ => attempt_files (v := v.logged) hro.logged ha⟩
  | usedUp ha _ =>
      have hc := attempt_compile_error ha
      exact ⟨[], _, .error _, by rw [keepRecord_calls, hc]; rfl, hs, rfl, by simp⟩
  | unrepaired ha _ _ =>
      have hc := attempt_compile_error ha
      exact ⟨[], _, .error _, by rw [keepRecord_calls, hc]; rfl, hs, rfl, by simp⟩
  | @repaired state w failure w' repaired outcome w'' ha hl _ _ ih =>
      have hc := attempt_compile_error ha
      have hk := keepRecord_calls recorder .compile state.attempt failure w'
      simp only [RetryState.isLast, decide_eq_false_iff_not, Nat.not_le] at hl
      obtain ⟨failed, files, result, hw, hb, ho, hf⟩ := ih hl
      simp only [RetryState.next] at hb ho
      refine ⟨(w.files, failure) :: failed, files, result, ?_, ?_, ?_, hf⟩
      · calc w''.calls
          _ = (keepRecord recorder .compile state.attempt failure w').calls ++ _ := hw
          _ = _ := by rw [hk, hc]; simp [CallTrace.events]
      · simp only [List.length_cons]
        omega
      · rw [ho, List.length_cons, Nat.add_assoc, Nat.add_comm 1]

/-- What the log of calls tells of a verification and of its report. -/
structure Traced (v : Verification σ) (maxRetries : UInt32) (w w' : World (List Event × σ))
    (log : StepLog) (t : CallTrace) : Prop where
  lawful : t.Lawful (max maxRetries.toNat 1) false
  calls : w'.calls = w.calls ++ t.events v.root v.target
  verdict : log.succeeded = true ↔ ∃ files counts, t.ran = some (files, .ok counts)
  failure : log.hasFailure = !log.succeeded
  counts : ∀ files counts, t.ran = some (files, .ok counts) →
    ∃ first, log.steps = [first, finishedStep .test maxRetries 2 (.succeeded 0 (some counts))]
  files : v.tools.ReadOnly → ∀ files counts, t.ran = some (files, .ok counts) →
    t.compiled.1 = w'.files ∧ files = w'.files

theorem lawful_of_lt {failed : List (FileSystem × ToolFailure)} {maxRetries : UInt32}
    (h : (RetryState.start maxRetries).attempt + failed.length <
      (RetryState.start maxRetries).maxRetries) :
    failed.length + 1 ≤ max maxRetries.toNat 1 := by
  simp only [RetryState.start] at h
  omega

theorem VerificationRun.traced {maxRetries : UInt32} {w w' : World (List Event × σ)}
    {log : StepLog} (hr : v.rules.Reachable)
    (h : VerificationRun v.logged maxRetries recorder w log w') :
    ∃ t, Traced v maxRetries w w' log t := by
  cases h with
  | notCompiled hc =>
      obtain ⟨failed, files, result, hw, hb, ho, -⟩ := hc.compile_calls (RetryState.start_lt maxRetries)
      cases result with
      | ok output => simp [compileOutcome] at ho
      | error failure =>
          exact ⟨⟨failed, (files, .error failure), none, none⟩,
            { lawful := ⟨lawful_of_lt hb, by simp, by simp⟩
              calls := hw
              verdict := by simp [StepLog.succeeded, finishedStep]
              failure := by simp [StepLog.succeeded, StepLog.hasFailure, finishedStep]
              counts := by simp
              files := by simp }⟩
  | @tested retries counts w₁ outcome _ hc ht =>
      obtain ⟨failed, files, result, hw, hb, ho, hf⟩ := hc.compile_calls (RetryState.start_lt maxRetries)
      cases result with
      | error failure => simp [compileOutcome] at ho
      | ok output =>
          rcases PhaseRun.test_once (v := v.logged) hr ht with
            ⟨counts, ha, rfl⟩ | ⟨failure, w₂, ha, rfl, rfl⟩
          · obtain ⟨ran, rfl, hc'⟩ := attempt_test_ok ha
            refine ⟨⟨failed, (files, .ok output), some (w₁.files, .ok ran), none⟩,
              { lawful := ⟨lawful_of_lt hb, by simp, by simp⟩
                calls := by rw [hc', hw]; simp [CallTrace.events]
                verdict := by simp [StepLog.succeeded, finishedStep]
                failure := by simp [StepLog.succeeded, StepLog.hasFailure, finishedStep]
                counts := ?_
                files := ?_ }⟩
            · intro seen counts hran
              cases hran
              exact ⟨_, rfl⟩
            · intro hro seen counts hran
              cases hran
              have hw' : w'.files = w₁.files := attempt_files (v := v.logged) hro.logged ha
              exact ⟨by rw [hw', hf hro output rfl], hw'.symm⟩
          · have hc' := attempt_test_error ha
            exact ⟨⟨failed, (files, .ok output), some (w₁.files, .error failure), none⟩,
              { lawful := ⟨lawful_of_lt hb, by simp, by simp⟩
                calls := by rw [keepRecord_calls, hc', hw]; simp [CallTrace.events]
                verdict := by simp [StepLog.succeeded, finishedStep]
                failure := by simp [StepLog.succeeded, StepLog.hasFailure, finishedStep]
                counts := by simp
                files := by simp }⟩

theorem verify_traced (hr : v.rules.Reachable) (maxRetries : UInt32) (recordAttempts : Bool)
    (w : World (List Event × σ)) :
    ∃ t, Traced v maxRetries w (v.logged.verify maxRetries recordAttempts w).2
      (v.logged.verify maxRetries recordAttempts w).1 t := by
  obtain ⟨t, ht⟩ := (verificationRun_verify v.logged maxRetries recordAttempts w).traced hr
  refine ⟨t, { ht with calls := ?_ }⟩
  have ho := (v.logged.openRecorder_world recordAttempts w).2
  rw [ht.calls, World.calls, ho, World.calls]

end Verification

/-! ## Operations -/

/-- What is called for a test: one verification of it if it is verified, and nothing if it is not. -/
def VerifiesOnce (verified : Prop) (root target : String) (maxRetries : UInt32) (cover : Bool)
    (calls : List Event) : Prop :=
  (verified → ∃ t : CallTrace, t.Lawful maxRetries.toNat cover ∧ calls = t.events root target) ∧
    (¬verified → calls = [])

theorem one_le_of_requireRetries {maxRetries : UInt32}
    (h : requireRetries maxRetries = .ok ()) : 1 ≤ maxRetries.toNat := by
  unfold requireRetries at h
  split at h
  · cases h
  · rename_i hm
    have hn : maxRetries.toNat ≠ 0 := fun hz => hm (UInt32.toNat_inj.1 hz)
    omega

theorem last_of_checked {first second third : Checked}
    (h : (first >>= fun _ => second >>= fun _ => third) = .ok ()) : third = .ok () := by
  cases first with
  | error fault => cases h
  | ok _ =>
      cases second with
      | error fault => cases h
      | ok _ => exact h

theorem GenerateRequest.one_le_of_check {r : GenerateRequest} (h : r.check = .ok ()) :
    1 ≤ r.maxRetries.toNat :=
  one_le_of_requireRetries (last_of_checked h)

theorem ValidateRequest.one_le_of_check {r : ValidateRequest} (h : r.check = .ok ()) :
    1 ≤ r.maxRetries.toNat :=
  one_le_of_requireRetries (last_of_checked h)

namespace Dispatcher

variable {σ : Type} {d : Dispatcher σ}

theorem logged_verification (d : Dispatcher σ) (root target : String) :
    d.logged.verification root target = (d.verification root target).logged :=
  withTools_verification root target

/-- The trace of a verification that an operation makes. -/
theorem verification_traced (hr : d.rules.Reachable) {root target : String} {maxRetries : UInt32}
    {w w' : World (List Event × σ)} {log : StepLog}
    (hy : (d.logged.verification root target).verify maxRetries d.logged.recordAttempts w =
      (log, w')) :
    ∃ t, Verification.Traced (d.verification root target) maxRetries w w' log t := by
  have ht := Verification.verify_traced (v := d.verification root target) hr maxRetries
    d.logged.recordAttempts w
  rw [logged_verification] at hy
  rwa [hy] at ht

theorem generateAs_calls (hr : d.rules.Reachable) (op : Operation) (r : GenerateRequest)
    (intent : TestIntent) (w : World (List Event × σ)) :
    ∃ calls, (d.logged.generateAs op r intent w).2.calls = w.calls ++ calls ∧
      VerifiesOnce (r.validate = true ∧ (d.logged.generateAs op r intent w).1.failure = none)
        r.projectRoot r.target r.maxRetries false calls := by
  have hg := generation_runGeneration d.logged op r intent w
  rcases hrun : d.logged.runGeneration op r intent w with ⟨log, failure, w'⟩
  simp only [generateAs, hrun]
  rw [hrun] at hg
  cases hg with
  | rejected hc => exact ⟨[], by simp, by simp [VerifiesOnce]⟩
  | unreadable hc hx => exact ⟨[], by simp, by simp [VerifiesOnce]⟩
  | unwritten hc hx hw => exact ⟨[], by simp [World.calls], by simp [VerifiesOnce]⟩
  | unverified hc hx hw hv => exact ⟨[], by simp [World.calls], by simp [VerifiesOnce, hv]⟩
  | verified hc hx hw hv hy =>
      obtain ⟨t, ht⟩ := verification_traced hr hy
      have hl := ht.lawful
      rw [Nat.max_eq_left (r.one_le_of_check hc)] at hl
      exact ⟨_, ht.calls, fun _ => ⟨t, hl, rfl⟩, fun hn => absurd ⟨hv, rfl⟩ hn⟩

theorem generateAs_paths (d : Dispatcher σ) (op : Operation) (r : GenerateRequest)
    (intent : TestIntent) (w : World σ) :
    (d.generateAs op r intent w).1.servicePath = r.servicePath ∧
      (d.generateAs op r intent w).1.testPath = r.target :=
  ⟨rfl, rfl⟩

/-- The test that an item of a batch is about is that of its service, and some calls belong to it. -/
structure ItemCalls (r : BatchRequest) (item : BatchItem) (calls : List Event) : Prop where
  target : item.report.testPath = (r.item item.servicePath).target
  calls : VerifiesOnce (r.validate = true ∧ item.report.failure = none) r.projectRoot
    item.report.testPath r.maxRetries false calls

theorem runItems_calls (hr : d.rules.Reachable) (r : BatchRequest) (paths : List String)
    (tally : BatchTally) (w : World (List Event × σ)) :
    ∃ traces, (d.logged.runItems r paths tally w).2.2.calls = w.calls ++ traces.flatten ∧
      List.Forall₂ (ItemCalls r) (d.logged.runItems r paths tally w).1 traces ∧
      (d.logged.runItems r paths tally w).1.map (·.servicePath) <+: paths := by
  induction paths generalizing tally w with
  | nil => exact ⟨[], by simp [runItems], .nil, List.prefix_refl _⟩
  | cons path rest ih =>
      obtain ⟨calls, hc, hv⟩ := generateAs_calls hr .generateBatchTests (r.item path) .unit w
      obtain ⟨hs, ht⟩ := d.logged.generateAs_paths .generateBatchTests (r.item path) .unit w
      rcases hg : d.logged.generateAs .generateBatchTests (r.item path) .unit w with ⟨report, w'⟩
      rw [hg] at hc hv hs ht
      have hi : ItemCalls r (BatchItem.ofReport report) calls := by
        rw [← ht] at hv
        exact ⟨by rw [show (BatchItem.ofReport report).servicePath = path from hs]; exact ht, hv⟩
      simp only [runItems, hg]
      split
      · obtain ⟨traces, ht, hf, hpaths⟩ := ih (tally.complete report.success) w'
        exact ⟨calls :: traces, by rw [ht, hc]; simp, .cons hi hf,
          List.cons_prefix_cons.2 ⟨hs, hpaths⟩⟩
      · exact ⟨[calls], by simpa using hc, .cons hi .nil,
          List.cons_prefix_cons.2 ⟨hs, List.nil_prefix⟩⟩

theorem generateBatch_calls (hr : d.rules.Reachable) (r : BatchRequest)
    (w : World (List Event × σ)) :
    ∃ traces, (d.logged.generateBatch r w).2.calls = w.calls ++ traces.flatten ∧
      List.Forall₂ (ItemCalls r) (d.logged.generateBatch r w).1.items traces ∧
      (d.logged.generateBatch r w).1.items.map (·.servicePath) <+: r.servicePaths := by
  unfold generateBatch
  split
  · exact ⟨[], by simp, .nil, List.nil_prefix⟩
  · exact runItems_calls hr r _ _ w

theorem runCoverage_calls (d : Dispatcher σ) (root target : String)
    (w : World (List Event × σ)) :
    ∃ result, (d.logged.runCoverage root target w).2.calls =
      w.calls ++ [⟨root, target, w.files, .coverage result⟩] := by
  refine ⟨(d.tools.coverage root target w.files w.tools.2).1, ?_⟩
  rcases hc : d.tools.coverage root target w.files w.tools.2 with ⟨result, files, tools⟩
  cases result <;> simp [runCoverage, logged, Toolchain.logged, hc, World.calls]

theorem verifyExisting_failure (d : Dispatcher σ) (r : ValidateRequest) (w : World σ) :
    (d.verifyExisting r w).1.failure = none := by
  unfold verifyExisting
  simp only
  split <;> rfl

theorem verifyExisting_calls (hr : d.rules.Reachable) (r : ValidateRequest)
    (hm : 1 ≤ r.maxRetries.toNat) (w : World (List Event × σ)) :
    ∃ t : CallTrace, t.Lawful r.maxRetries.toNat r.checkCoverage ∧
      (d.logged.verifyExisting r w).2.calls = w.calls ++ t.events r.projectRoot r.testPath := by
  rcases hy : (d.logged.verification r.projectRoot r.testPath).verify r.maxRetries
    d.logged.recordAttempts w with ⟨steps, w'⟩
  obtain ⟨t, ht⟩ := verification_traced hr hy
  have hl := ht.lawful
  rw [Nat.max_eq_left hm] at hl
  simp only [verifyExisting, hy]
  split
  · rename_i hc
    simp only [Bool.and_eq_true] at hc
    obtain ⟨result, hw⟩ := d.runCoverage_calls r.projectRoot r.testPath w'
    refine ⟨t.withCoverage (w'.files, result), ⟨hl.attempts, hl.ran_iff, ?_⟩, ?_⟩
    · simpa [CallTrace.withCoverage, hc.1] using ht.verdict.1 hc.2
    · rw [hw, ht.calls, CallTrace.events_withCoverage hl.covered_none, List.append_assoc]
      rfl
  · rename_i hc
    refine ⟨t, ⟨hl.attempts, hl.ran_iff, ?_⟩, ht.calls⟩
    rw [hl.covered_none]
    simp only [Bool.and_eq_true, not_and] at hc
    simp only [Option.isSome_none, Bool.false_eq_true, false_iff, not_and]
    exact fun hcov hran => hc hcov (ht.verdict.2 hran)

theorem validate_calls (hr : d.rules.Reachable) (r : ValidateRequest)
    (w : World (List Event × σ)) :
    ∃ calls, (d.logged.validate r w).2.calls = w.calls ++ calls ∧
      VerifiesOnce ((d.logged.validate r w).1.failure = none) r.projectRoot r.testPath r.maxRetries
        r.checkCoverage calls := by
  unfold validate
  cases hc : r.check with
  | error fault => exact ⟨[], by simp, by simp [VerifiesOnce, refusedValidation]⟩
  | ok _ =>
      simp only
      split
      · exact ⟨[], by simp, by simp [VerifiesOnce, refusedValidation]⟩
      · obtain ⟨t, hl, ht⟩ := verifyExisting_calls hr r (r.one_le_of_check hc) w
        exact ⟨_, ht, fun _ => ⟨t, hl, rfl⟩,
          fun hn => absurd (verifyExisting_failure d.logged r w) hn⟩

/-! ## All operations -/

/-- The calls of every operation, for any answers and any rules that can be reached: a generation
or a validation verifies its test once or not at all, and a batch, whose items are those of the first
services, makes its items' calls in order. -/
theorem toolchain_calls (d : Dispatcher σ) (hr : d.rules.Reachable) (w : World σ) :
    (∀ r intent, VerifiesOnce (r.validate = true ∧ (d.generate r intent w).1.failure = none)
      r.projectRoot r.target r.maxRetries false (d.generateCalls r intent w)) ∧
    (∀ r, ∃ traces, d.batchCalls r w = traces.flatten ∧
      List.Forall₂ (ItemCalls r) (d.generateBatch r w).1.items traces ∧
      (d.generateBatch r w).1.items.map (·.servicePath) <+: r.servicePaths) ∧
    (∀ r, VerifiesOnce ((d.validate r w).1.failure = none) r.projectRoot r.testPath r.maxRetries
      r.checkCoverage (d.validateCalls r w)) := by
  refine ⟨fun r intent => ?_, fun r => ?_, fun r => ?_⟩
  · obtain ⟨calls, hc, hv⟩ := generateAs_calls hr (intentOperation intent) r intent w.logging
    have he := congrArg Prod.fst (d.generateAs_logged w.logging (intentOperation intent) r intent)
    have hn : d.generateCalls r intent w = calls := hc
    rw [hn]
    simp only [generate]
    rw [show w = w.logging.map Prod.snd from rfl, he]
    exact hv
  · have he := congrArg Prod.fst (d.generateBatch_logged w.logging r)
    obtain ⟨traces, hc, hf⟩ := generateBatch_calls hr r w.logging
    refine ⟨traces, hc, ?_⟩
    rw [show w = w.logging.map Prod.snd from rfl, he]
    exact hf
  · obtain ⟨calls, hc, hv⟩ := validate_calls hr r w.logging
    have he := congrArg Prod.fst (d.validate_logged w.logging r)
    have hn : d.validateCalls r w = calls := hc
    rw [hn, show w = w.logging.map Prod.snd from rfl, he]
    exact hv

end Dispatcher

/-! ## A project with one test -/

/-- Everything compiles, and every run passes two tests. -/
def Toolchain.steady : Toolchain Unit where
  compile _ _ fs s := (.ok ⟨true, "", ""⟩, fs, s)
  run _ _ fs s := (.ok ⟨2, 0⟩, fs, s)
  coverage _ _ fs s := (.ok ⟨"coverage.xml"⟩, fs, s)

def Dispatcher.steady : Dispatcher Unit :=
  ⟨.steady, fun _ _ => false, .standard, "com.example", false⟩

/-- Every verification succeeds, and leaves all as it was. -/
theorem Verification.verify_steady (v : Verification Unit) (hv : v.tools = .steady)
    (maxRetries : UInt32) (w : World Unit) :
    ∃ log, v.verify maxRetries false w = (log, w) ∧ log.succeeded = true ∧
      log.hasFailure = false := by
  have hcompile : v.attempt .compile w = (.ok none, w) := by
    simp [attempt, hv, Toolchain.steady, Except.map]
  have htest : v.attempt .test w = (.ok (some ⟨2, 0⟩), w) := by
    simp [attempt, hv, Toolchain.steady, Except.map]
  have hrun : VerificationRun v maxRetries none w _ w :=
    .tested (.succeeds hcompile) (.succeeds htest)
  obtain ⟨hlog, hworld⟩ := hrun.unique (verificationRun_verify v maxRetries false w)
  exact ⟨_, Prod.ext hlog.symm hworld.symm, rfl, rfl⟩

def World.oneTest : World Unit :=
  ⟨⟨[(["p"], .directory), (["p", "OrderTest.kt"], .file "class OrderTest".toUTF8 false)], []⟩,
    .still 0, ()⟩

def ValidateRequest.oneTest : ValidateRequest :=
  ⟨"/p", "OrderTest.kt", 3, true⟩

/-- A service that is not there, and one that is. -/
def BatchRequest.oneTest : BatchRequest :=
  ⟨"/p", ["Cart.kt", "OrderTest.kt"], true, 3, true⟩

theorem ValidateRequest.check_oneTest : oneTest.check = .ok () := by
  decide

/-- A name that stands for itself in the project's directory. -/
abbrev World.PlainName (name : String) : Prop :=
  FileSystem.checkPath (Path.join "/p" name) = .ok () ∧
    oneTest.files.start (Path.join "/p" name) = [] ∧
    FileSystem.pieces (Path.join "/p" name) = ["", "p", name] ∧
    Path.parent? (Path.join "/p" name) = some "/p" ∧
    FileSystem.endsInSlash (Path.join "/p" name) = false ∧
    name ≠ "" ∧ name ≠ "." ∧ name ≠ ".." ∧ ¬255 < name.utf8ByteSize

/-- Plain names lead into the project's directory, whether or not a file has them. -/
theorem World.resolve_oneTest {name : String} (h : PlainName name) :
    oneTest.files.resolve (Path.join "/p" name) true = .ok ["p", name] := by
  obtain ⟨hp, hs, hpieces, -, -, hn⟩ := h
  have hroot : ¬255 < "p".utf8ByteSize := by decide
  have hw : oneTest.files.walk true FileSystem.maxLinks [] ["", "p", name] = .ok ["p", name] := by
    simp [FileSystem.walk, hn, hroot, FileSystem.requireDirectory, FileSystem.get?,
      FileSystem.find?, FileSystem.maxNameBytes, oneTest]
  simp only [FileSystem.resolve, hp, hs, hpieces, hw]

theorem World.status_oneTest :
    oneTest.files.status (Path.join "/p" "OrderTest.kt") =
      .ok (.file "class OrderTest".toUTF8 false) :=
  FileSystem.status_ok_iff.2 ⟨["p", "OrderTest.kt"], resolve_oneTest (by decide), rfl⟩

theorem World.readText_oneTest :
    oneTest.files.readText (Path.join "/p" "OrderTest.kt") = .ok "class OrderTest" :=
  FileSystem.readText_of_readBytes (FileSystem.readBytes_ok_iff.2 ⟨false, status_oneTest⟩)

theorem World.resolve_root_oneTest (follow : Bool) :
    oneTest.files.resolve "/p" follow = .ok ["p"] := by
  have hp : FileSystem.pieces "/p" = ["", "p"] := by decide
  have hc : FileSystem.checkPath "/p" = .ok () := by decide
  have hs : oneTest.files.start "/p" = [] := by decide
  have hn : ¬255 < "p".utf8ByteSize := by decide
  have hw : oneTest.files.walk follow FileSystem.maxLinks [] ["", "p"] = .ok ["p"] := by
    simp [FileSystem.walk, hn, FileSystem.requireDirectory, FileSystem.get?, FileSystem.find?,
      FileSystem.maxNameBytes, oneTest]
  simp only [FileSystem.resolve, hc, hs, hp, hw]

section

variable {fs : FileSystem} {path name : String}

/-- Whatever comes to the project, its directory is there. -/
theorem World.createDirectories_grown (h : oneTest.files.Grows fs) :
    fs.createDirectories "/p" = (.ok (), fs) := by
  have hg : fs.get? ["p"] = some .directory := h.directory _ rfl
  have hresolve (follow : Bool) : fs.resolve "/p" follow = .ok ["p"] :=
    h.resolve (resolve_root_oneTest follow)
  have hcreate : fs.createDirectory "/p" = .error .exists := by
    have hd : FileSystem.dropSlashes "/p" = "/p" := by decide
    unfold FileSystem.createDirectory
    simp only [hd, ite_self, hresolve, hg]
  have hdir : fs.isDirectory "/p" = true := by
    simp only [FileSystem.isDirectory, FileSystem.status, hresolve, hg]
  have hl : FileSystem.lineage "/p".length "/p" = ["/p", "/"] := by decide
  have he : "/p".isEmpty = false := by decide
  rw [FileSystem.createDirectories, hl]
  unfold FileSystem.createLineage
  simp only [he, hcreate, hdir]
  rfl

theorem World.makeRoom_grown (h : oneTest.files.Grows fs) (hp : Path.parent? path = some "/p") :
    makeRoom path fs = (.ok (), fs) := by
  simp only [makeRoom, hp, createDirectories_grown h]

/-- A new name in the project's directory can be written. -/
theorem World.writeArtifact_grown (h : oneTest.files.Grows fs) (hp : PlainName name)
    (hn : fs.get? ["p", name] = none) (artifact : String) :
    writeArtifact "/p" name artifact fs =
      (.ok (), fs.put ["p", name] (.file artifact.toUTF8 false)) := by
  have hresolve := h.resolve (resolve_oneTest hp)
  obtain ⟨-, -, -, hparent, hslash, -⟩ := hp
  have hplace : fs.writePlace (Path.join "/p" name) = .ok ["p", name] :=
    FileSystem.writePlace_ok_iff.2 ⟨hslash, hresolve⟩
  have hwritten : fs.writeText (Path.join "/p" name) artifact =
      .ok (fs.put ["p", name] (.file artifact.toUTF8 false)) := by
    simp only [FileSystem.writeText, FileSystem.writeBytes, hplace, hn]
  unfold writeArtifact
  simp only [makeRoom_grown h hparent, hwritten]

/-- A name that no file has cannot be read. -/
theorem World.readText_missing (h : oneTest.files.Grows fs) (hp : PlainName name)
    (hn : fs.get? ["p", name] = none) : fs.readText (Path.join "/p" name) = .error .notFound := by
  have hresolve := h.resolve (resolve_oneTest hp)
  simp only [FileSystem.readText, FileSystem.readBytes, FileSystem.status, hresolve, hn]

end

theorem World.plainName_test : PlainName "OrderTestTest.kt" := by
  decide

theorem World.resolve_test_oneTest :
    oneTest.files.resolve (Path.join "/p" "OrderTestTest.kt") true =
      .ok ["p", "OrderTestTest.kt"] :=
  resolve_oneTest plainName_test

theorem World.makeRoom_oneTest :
    makeRoom (Path.join "/p" "OrderTestTest.kt") oneTest.files = (.ok (), oneTest.files) :=
  makeRoom_grown (.refl _) (by decide)

theorem World.writeArtifact_oneTest (artifact : String) :
    writeArtifact "/p" "OrderTestTest.kt" artifact oneTest.files =
      (.ok (), oneTest.files.put ["p", "OrderTestTest.kt"] (.file artifact.toUTF8 false)) :=
  writeArtifact_grown (.refl _) plainName_test rfl artifact

namespace Dispatcher

/-- A test of the only service is written and verified, whatever the toolchain. -/
theorem runGeneration_oneTest {σ : Type} (d : Dispatcher σ) (op : Operation) {r : GenerateRequest}
    (intent : TestIntent) {w : World σ} (hfiles : w.files = World.oneTest.files)
    (hc : r.check = .ok ()) (hroot : r.projectRoot = "/p")
    (hservice : r.servicePath = "OrderTest.kt") (htarget : r.target = "OrderTestTest.kt")
    (hv : r.validate = true) :
    ∃ x files log w', (d.verification "/p" "OrderTestTest.kt").verify r.maxRetries d.recordAttempts
        { w with files := files } = (log, w') ∧
      d.runGeneration op r intent w = ((d.writtenLog r intent x w).absorb log, none, w') := by
  have hx := extract_ok World.readText_oneTest d.defaultPackage r.symbols
  have hg := generation_runGeneration d op r intent w
  generalize d.runGeneration op r intent w = generated at hg ⊢
  cases hg with
  | rejected hc' =>
      rw [hc] at hc'
      cases hc'
  | unreadable _ hx' =>
      rw [hfiles, hroot, hservice, hx] at hx'
      cases hx'
  | unwritten _ _ hw =>
      rw [hfiles, hroot, htarget, World.writeArtifact_oneTest] at hw
      cases hw
  | unverified _ _ _ hv' =>
      rw [hv] at hv'
      cases hv'
  | @verified x files verification w' _ _ _ _ hy =>
      rw [hroot, htarget] at hy
      exact ⟨x, files, verification, w', hy, rfl⟩

theorem validate_oneTest :
    Dispatcher.steady.validate .oneTest .oneTest =
      Dispatcher.steady.verifyExisting .oneTest .oneTest := by
  have hs : World.oneTest.files.status (Path.join ValidateRequest.oneTest.projectRoot
      ValidateRequest.oneTest.testPath) = .ok (.file "class OrderTest".toUTF8 false) :=
    World.status_oneTest
  simp only [validate, ValidateRequest.check_oneTest, hs]

/-- The batch goes on after a service that is not there, and writes the test of the other. -/
theorem generateBatch_oneTest :
    ∃ missing written, (steady.generateBatch .oneTest .oneTest).1.items = [missing, written] ∧
      missing.report.failure ≠ none ∧ written.report.failure = none := by
  have hcheck : BatchRequest.oneTest.check = .ok () := by decide
  have hread : World.oneTest.files.readText (Path.join "/p" "Cart.kt") = .error .notFound :=
    World.readText_missing (.refl _) (by decide) rfl
  have hc : (BatchRequest.oneTest.item "Cart.kt").check = .ok () := by decide
  have hx := extract_error hread steady.defaultPackage none
  have hfirst : steady.runGeneration .generateBatchTests (BatchRequest.oneTest.item "Cart.kt") .unit
      .oneTest = _ := (Generation.unreadable hc hx).eq
  obtain ⟨x, files, log, w', -, hsecond⟩ := runGeneration_oneTest steady .generateBatchTests
    (r := BatchRequest.oneTest.item "OrderTest.kt") .unit (w := .oneTest) rfl (by decide) rfl rfl
    (by decide) rfl
  have hitems : (steady.generateBatch .oneTest .oneTest).1.items =
      (steady.runItems .oneTest ["Cart.kt", "OrderTest.kt"] (.start 2) .oneTest).1 := by
    simp only [generateBatch, hcheck]
    rfl
  rw [hitems]
  have hgo : BatchRequest.oneTest.continueOnError = true := rfl
  simp only [runItems, generateAs, hfirst, hsecond, hgo, Bool.or_true, ↓reduceIte]
  exact ⟨_, _, rfl, Option.some_ne_none _, rfl⟩

theorem toolchain_calls_steady :
    steady.rules.Reachable ∧
      (∃ t : CallTrace, t.Lawful 3 true ∧
        steady.validateCalls .oneTest .oneTest = t.events "/p" "OrderTest.kt") ∧
      ∃ t : CallTrace, t.Lawful 3 false ∧
        steady.batchCalls .oneTest .oneTest = t.events "/p" "OrderTestTest.kt" := by
  obtain ⟨-, hbatch, hvalidate⟩ := toolchain_calls .steady .standard .oneTest
  have hf : (steady.validate .oneTest .oneTest).1.failure = none := by
    rw [validate_oneTest]
    exact verifyExisting_failure _ _ _
  obtain ⟨missing, written, hitems, hmissing, hwritten⟩ := generateBatch_oneTest
  obtain ⟨traces, hcalls, hall, hpaths⟩ := hbatch .oneTest
  rw [hitems] at hall hpaths
  obtain ⟨-, hpath⟩ : missing.servicePath = "Cart.kt" ∧
      [written.servicePath] <+: ["OrderTest.kt"] := List.cons_prefix_cons.1 hpaths
  obtain ⟨hservice, -⟩ : written.servicePath = "OrderTest.kt" ∧ _ := List.cons_prefix_cons.1 hpath
  have htarget : (BatchRequest.oneTest.item "OrderTest.kt").target = "OrderTestTest.kt" := by
    decide
  cases hall with
  | cons hfirst hrest =>
      cases hrest with
      | cons hsecond hend =>
          cases hend
          obtain ⟨t, ht, hevents⟩ := hsecond.calls.1 ⟨rfl, hwritten⟩
          rw [hsecond.target, hservice, htarget] at hevents
          have hnone := hfirst.calls.2 fun h => hmissing h.2
          refine ⟨.standard, (hvalidate .oneTest).1 hf, t, ht, ?_⟩
          rw [hcalls, hnone, hevents]
          exact List.append_nil (t.events "/p" "OrderTestTest.kt")

end Dispatcher

end TestForge
